import Sleepypods.Api.Route

/-! What host normalization makes of its own results: it trims white space before it trims dots, so
a host may come out with white space at an end, which the next normalization strips. -/

set_option autoImplicit false

namespace Sleepypods

section trimming

variable {strips : Char → Bool} {text : List Char}

theorem trimEndMatches_sublist : (trimEndMatches strips text).Sublist text := by
  rw [trimEndMatches, ← List.reverse_sublist, List.reverse_reverse]
  exact List.dropWhile_sublist strips

theorem trimText_sublist : (trimText text).Sublist text :=
  trimEndMatches_sublist.trans (List.dropWhile_sublist _)

theorem dropWhile_eq_self : text.dropWhile strips = text ↔ text.head?.all (!strips ·) = true := by
  cases text with
  | nil => simp
  | cons c rest =>
    cases stripped : strips c with
    | false => simp [stripped]
    | true =>
      have shorter : (rest.dropWhile strips).length ≤ rest.length :=
        (List.dropWhile_sublist strips).length_le
      simp only [List.dropWhile_cons_of_pos stripped, List.head?_cons, Option.all_some, stripped,
        Bool.not_true, Bool.false_eq_true, iff_false]
      intro same
      rw [same, List.length_cons] at shorter
      omega

theorem trimEndMatches_eq_self :
    trimEndMatches strips text = text ↔ text.getLast?.all (!strips ·) = true := by
  rw [trimEndMatches, List.reverse_eq_iff, dropWhile_eq_self, List.head?_reverse]

theorem trimText_eq_self : trimText text = text ↔
    text.head?.all (!isWhiteSpace ·) = true ∧ text.getLast?.all (!isWhiteSpace ·) = true := by
  constructor
  · intro trimmed
    have dropped : text.dropWhile isWhiteSpace = text := by
      refine (List.dropWhile_sublist isWhiteSpace).eq_of_length_le ?_
      calc text.length = (trimText text).length := by rw [trimmed]
        _ ≤ (text.dropWhile isWhiteSpace).length := trimEndMatches_sublist.length_le
    rw [trimText, dropped] at trimmed
    exact ⟨dropWhile_eq_self.mp dropped, trimEndMatches_eq_self.mp trimmed⟩
  · intro bare
    rw [trimText, dropWhile_eq_self.mpr bare.1]
    exact trimEndMatches_eq_self.mpr bare.2

theorem getLast?_trimEndMatches : (trimEndMatches strips text).getLast?.all (!strips ·) = true := by
  rw [trimEndMatches, List.getLast?_reverse]
  cases dropped : text.reverse.dropWhile strips with
  | nil => rfl
  | cons =>
    have kept := List.head?_dropWhile_not strips text.reverse
    rw [dropped, List.head?_cons] at kept
    simpa using kept

end trimming

/-- Folding moves an upper-case letter by thirty-two and keeps everything else. -/
theorem toLower_cases (c : Char) : c.toLower = c ∨
    (65 ≤ c.val.toNat ∧ c.val.toNat ≤ 90 ∧ c.toLower.val.toNat = c.val.toNat + 32) := by
  by_cases upper : c.val ≥ 'A'.val ∧ c.val ≤ 'Z'.val
  · have low : 65 ≤ c.val.toNat := UInt32.le_iff_toNat_le.mp upper.1
    have high : c.val.toNat ≤ 90 := UInt32.le_iff_toNat_le.mp upper.2
    right
    rw [Char.toLower, dif_pos upper, UInt32.toNat_add, show ('a'.val - 'A'.val).toNat = 32 by decide]
    omega
  · left
    rw [Char.toLower, dif_neg upper]

theorem toLower_idem (c : Char) : c.toLower.toLower = c.toLower := by
  rcases toLower_cases c.toLower with kept | again
  · exact kept
  · rcases toLower_cases c with same | lowered
    · rw [same]
      exact same
    · omega

theorem toLower_ne_dot {c : Char} (different : c ≠ '.') : c.toLower ≠ '.' := by
  rcases toLower_cases c with same | ⟨low, _, lowered⟩
  · rwa [same]
  · intro dot
    rw [dot, show ('.').val.toNat = 46 by decide] at lowered
    omega

/-! ### Normalized hosts -/

variable {value : String}

theorem normalizeHost_eq_ok {host : String} {wildcard : Bool} :
    normalizeHost value wildcard = .ok host ↔ foldHost value wildcard = host.toList ∧
      host.toList ≠ [] ∧ '*' ∉ host.toList ∧ '.' ∈ host.toList := by
  simp only [normalizeHost]
  constructor
  · intro normalized
    split at normalized
    · cases normalized
    next present =>
      split at normalized
      · cases normalized
      next plain =>
        split at normalized
        · cases normalized
        next dotted =>
          cases normalized
          rw [String.toList_ofList]
          refine ⟨rfl, ?_, ?_, ?_⟩
          · simpa using present
          · simpa using plain
          · simpa using dotted
  · rintro ⟨folded, present, plain, dotted⟩
    simp [folded, present, plain, dotted]

theorem stripWildcard_of_notMem {host : List Char} (plain : '*' ∉ host) :
    stripWildcard host = host := by
  unfold stripWildcard
  split
  · exact absurd List.mem_cons_self plain
  · rfl

theorem stripWildcard_suffix (host : List Char) : stripWildcard host <:+ host := by
  unfold stripWildcard
  split
  · exact ⟨['*', '.'], rfl⟩
  · exact List.suffix_refl _

theorem all_getLast?_of_suffix {holds : Char → Bool} {short long : List Char} (ends : short <:+ long)
    (last : long.getLast?.all holds = true) : short.getLast?.all holds = true := by
  obtain ⟨front, rfl⟩ := ends
  cases short with
  | nil => rfl
  | cons => rwa [List.getLast?_append_cons] at last

theorem getLast?_foldHost (value : String) (wildcard : Bool) :
    (foldHost value wildcard).getLast?.all (!· == '.') = true := by
  have whole : ((trimEndMatches (· == '.') (trimText value.toList)).map
      Char.toLower).getLast?.all (!· == '.') = true := by
    have kept : (trimEndMatches (· == '.') (trimText value.toList)).getLast?.all (!· == '.') = true :=
      getLast?_trimEndMatches
    rw [List.getLast?_map, Option.all_map]
    cases last : (trimEndMatches (· == '.') (trimText value.toList)).getLast? with
    | none => rfl
    | some =>
      rw [last, Option.all_some, Bool.not_eq_true', beq_eq_false_iff_ne] at kept
      rw [Option.all_some, Bool.not_eq_true', beq_eq_false_iff_ne]
      exact toLower_ne_dot kept
  cases wildcard with
  | false => exact whole
  | true => exact all_getLast?_of_suffix (stripWildcard_suffix _) whole

theorem toLower_of_mem_foldHost {wildcard : Bool} {c : Char}
    (member : c ∈ foldHost value wildcard) :
    c.toLower = c := by
  have within : c ∈ (trimEndMatches (· == '.') (trimText value.toList)).map Char.toLower := by
    cases wildcard with
    | false => exact member
    | true => exact (stripWildcard_suffix _).subset member
  obtain ⟨before, _, rfl⟩ := List.mem_map.mp within
  exact toLower_idem before

def RouteHost.Trimmed (host : RouteHost) : Prop :=
  host.host.toList.head?.all (!isWhiteSpace ·) = true ∧
    host.host.toList.getLast?.all (!isWhiteSpace ·) = true

instance (host : RouteHost) : Decidable host.Trimmed := inferInstanceAs (Decidable (_ ∧ _))

namespace RouteHost

variable (host : RouteHost)

/-- Folding a host once more only trims it: it is folded already, and has no wildcard left. -/
theorem foldHost_host (wildcard : Bool) :
    foldHost host.host wildcard = trimEndMatches (· == '.') (trimText host.host.toList) := by
  obtain ⟨value, normalized⟩ := host.accepted
  obtain ⟨folded, _, plain, _⟩ := normalizeHost_eq_ok.mp normalized
  have within : (trimEndMatches (· == '.') (trimText host.host.toList)).Sublist host.host.toList :=
    trimEndMatches_sublist.trans trimText_sublist
  have lower : (trimEndMatches (· == '.') (trimText host.host.toList)).map Char.toLower =
      trimEndMatches (· == '.') (trimText host.host.toList) := by
    refine (List.map_congr_left fun c member => ?_).trans (List.map_id' _)
    have before : c ∈ foldHost value host.kind.isWildcard := by
      rw [folded]
      exact within.subset member
    exact toLower_of_mem_foldHost before
  unfold foldHost
  rw [lower]
  cases wildcard with
  | false => rfl
  | true => exact stripWildcard_of_notMem fun star => plain (within.subset star)

theorem new_eq_ok {kind : RouteHostKind} {result : RouteHost} :
    RouteHost.new kind value = .ok result ↔
      kind = result.kind ∧ normalizeHost value kind.isWildcard = .ok result.host := by
  obtain ⟨resultKind, text, accepted⟩ := result
  unfold RouteHost.new
  split
  next normal normalized =>
    simp [normalized]
  next invalid refused =>
    simp [refused]

theorem new_host_eq_self : RouteHost.new host.kind host.host = .ok host ↔ host.Trimmed := by
  obtain ⟨value, normalized⟩ := host.accepted
  obtain ⟨folded, checked⟩ := normalizeHost_eq_ok.mp normalized
  have dotless : host.host.toList.getLast?.all (!· == '.') = true := by
    rw [← folded]
    exact getLast?_foldHost value host.kind.isWildcard
  rw [new_eq_ok, normalizeHost_eq_ok, foldHost_host, Trimmed, ← trimText_eq_self]
  constructor
  · intro unchanged
    refine trimText_sublist.eq_of_length_le ?_
    calc host.host.toList.length
        = (trimEndMatches (· == '.') (trimText host.host.toList)).length := by rw [unchanged.2.1]
      _ ≤ (trimText host.host.toList).length := trimEndMatches_sublist.length_le
  · intro trimmed
    rw [trimmed]
    exact ⟨rfl, trimEndMatches_eq_self.mpr dotless, checked⟩

end RouteHost

theorem PathPrefix.new_value (path : PathPrefix) : PathPrefix.new path.value = some path := by
  rw [PathPrefix.new, dif_pos path.absolute]

end Sleepypods
